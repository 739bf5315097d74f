/-
DNSCrypt packets: how a query is sized and encrypted and how a response is
opened.

The primitives are those of libsodium.  The source chooses between two boxes
by the version of the certificate, so the primitives below take the box.
Sizes are exact but for the one difference that can wrap.
-/
import NativeDNS.Dnscrypt.Certificate

namespace NativeDNS

open ByteText (text byte)
open CheckedResult

/-- The two boxes over X25519: XSalsa20 and XChaCha20, both with Poly1305. -/
inductive Box where
  | xsalsa20
  | xchacha20
  deriving DecidableEq, Repr

/-- The primitives; an operation that returns nonzero gives nothing. -/
structure Sodium where
  /-- `crypto_scalarmult_curve25519_base`. -/
  scalarmultBase : Bytes → Option Bytes
  /-- `crypto_box_..._beforenm`: public key, then secret key. -/
  beforenm : Box → Bytes → Bytes → Option Bytes
  /-- `crypto_box_..._easy_afternm`: plaintext, nonce, shared key. -/
  easyAfternm : Box → Packet → Bytes → Bytes → Option Packet
  /-- `crypto_box_..._open_easy_afternm`: box, nonce, shared key. -/
  openEasyAfternm : Box → Packet → Bytes → Bytes → Option Packet

def resolverMagic : Bytes := text "r6fnvWj8"

def macBytes : Nat := 16

def queryOverhead : Nat := 8 + 32 + 12 + macBytes

/-- The box of an encryption system; the source tests for the first one. -/
def boxOf (encryptionSystem : UInt16) : Box :=
  if encryptionSystem = 1 then .xsalsa20 else .xchacha20

def dnscryptSharedKey (sodium : Sodium) (clientSecret : Bytes)
    (certificate : DnsCryptCertificate) : Checked Bytes :=
  match sodium.beforenm (boxOf certificate.encryptionSystem.toUInt16)
    certificate.resolverPublicKey clientSecret with
  | some shared => pure shared
  | none =>
      throw (.of "DNSCRYPT_KEY" "Resolver uses a weak X25519 public key")

def sizeError (message : String) : Error :=
  .of "DNSCRYPT_SIZE" message

/-- The plaintext of a query: the request, a mark and zeros up to a multiple
of 64 that reaches the wanted wire size. -/
def paddedSize (requestSize minimumWireSize : Nat) : Nat :=
  (max (requestSize + 1)
    (if minimumWireSize > queryOverhead then minimumWireSize - queryOverhead
    else 1) + 63) / 64 * 64

def paddedRequest (request : Packet) (size : Nat) : Packet :=
  request ++ 0x80 :: List.replicate (size - (request.length + 1)) 0

def buildDnscryptQuery (sodium : Sodium) (request : Packet)
    (certificate : DnsCryptCertificate) (clientSecret clientNonce : Bytes)
    (minimumWireSize : Nat) : Checked Packet := do
  rejectIf
    (request.length < 12 ∨ request.length > 4000 ∨ minimumWireSize > 4096)
    (sizeError "DNSCrypt query size is outside protocol bounds")
  let size := paddedSize request.length minimumWireSize
  rejectIf (size + queryOverhead > 4096)
    (sizeError "Encrypted DNSCrypt query exceeds 4096 bytes")
  match sodium.scalarmultBase clientSecret with
  | none =>
      throw (.of "CRYPTO_INIT" "Cannot derive DNSCrypt client public key")
  | some clientPublic => do
      let shared ← dnscryptSharedKey sodium clientSecret certificate
      match sodium.easyAfternm (boxOf certificate.encryptionSystem.toUInt16)
        (paddedRequest request size) (clientNonce ++ List.replicate 12 0)
        shared with
      | none =>
          throw (.of "DNSCRYPT_CRYPTO" "DNSCrypt query encryption failed")
      | some box =>
          pure (certificate.clientMagic ++ clientPublic ++ clientNonce ++ box)

/-! ### Sizes of queries -/

/-- A difference of two sizes in 64-bit arithmetic. -/
def subtractSize (left right : Nat) : Nat :=
  (left + (2 ^ 64 - right % 2 ^ 64)) % 2 ^ 64

/-- The wire size a query is built for; `uniform` is `randombytes_uniform`. -/
def queryTarget (uniform : Nat → Nat) (requestSize : Nat) (tcp : Bool) :
    Checked Nat :=
  if tcp then do
    let minimumPadding := 64 - requestSize % 64
    let maximumPadding :=
      min 256 (subtractSize (4096 - queryOverhead) requestSize)
    rejectIf (minimumPadding > maximumPadding)
      (sizeError "DNSCrypt TCP query cannot be padded within protocol bounds")
    let choices := 1 + (maximumPadding - minimumPadding) / 64
    pure ((queryOverhead + requestSize + minimumPadding +
      uniform choices * 64) % 2 ^ 64)
  else pure 512

def encryptedQuery (sodium : Sodium) (uniform : Nat → Nat) (request : Packet)
    (certificate : DnsCryptCertificate) (clientSecret clientNonce : Bytes)
    (tcp : Bool) : Checked Packet := do
  let target ← queryTarget uniform request.length tcp
  buildDnscryptQuery sodium request certificate clientSecret clientNonce target

/-! ### Opening a response -/

/-- The scan over the zeros at the end, from a given position backward. -/
def contentEnd (plain : Packet) : Nat → Nat
  | 0 => 0
  | last + 1 =>
      if byteAt plain last = 0 then contentEnd plain last else last + 1

def unpadResponse (plain : Packet) : Checked Packet := do
  let behind := contentEnd plain plain.length
  rejectIf (behind = 0 ∨ byteAt plain (behind - 1) ≠ 0x80)
    (.of "DNSCRYPT_PADDING" "Invalid DNSCrypt response padding")
  pure (plain.take (behind - 1))

def openDnscryptResponse (sodium : Sodium) (response : Packet)
    (sharedKey clientNonce : Bytes) (encryptionSystem : UInt16) :
    Checked Packet := do
  rejectIf
    (response.length < 32 + macBytes + 1 ∨ response.take 8 ≠ resolverMagic)
    (.of "DNSCRYPT_RESPONSE" "Invalid DNSCrypt response header")
  rejectIf (slice response 8 12 ≠ clientNonce)
    (.of "DNSCRYPT_NONCE" "DNSCrypt response nonce does not match the query")
  rejectIf (encryptionSystem ≠ 1 ∧ encryptionSystem ≠ 2)
    (.of "DNSCRYPT_CERT" "Unsupported DNSCrypt encryption system")
  match sodium.openEasyAfternm (boxOf encryptionSystem) (response.drop 32)
    (slice response 8 24) sharedKey with
  | none =>
      throw (.of "DNSCRYPT_AUTH" "DNSCrypt response authentication failed")
  | some plain => do
      let message ← unpadResponse plain
      rejectIf (message.length < 12)
        (.of "DNS_MALFORMED" "Decrypted DNSCrypt response is too short")
      pure message

/-! ### What the primitives promise -/

/-- The boxes are an authenticated encryption: sealing adds a tag and never
fails, and a box opens exactly to what was sealed into it. -/
structure Sodium.Correct (sodium : Sodium) : Prop where
  publicKey : ∀ secret, ∃ clientPublic,
    sodium.scalarmultBase secret = some clientPublic ∧ clientPublic.length = 32
  seals : ∀ box plain nonce key, ∃ sealed,
    sodium.easyAfternm box plain nonce key = some sealed ∧
      sealed.length = plain.length + macBytes
  opens : ∀ box plain nonce key sealed,
    sodium.openEasyAfternm box sealed nonce key = some plain ↔
      sodium.easyAfternm box plain nonce key = some sealed

/-! ### Recorded boxes -/

def vectorMessage : Packet :=
  [0x12, 0x34, 0x81, 0x80, 0x00, 0x01, 0x00, 0x01, 0x00, 0x00, 0x00, 0x00,
    0x03, 0x77, 0x77, 0x77, 0x07, 0x65, 0x78, 0x61, 0x6d, 0x70, 0x6c, 0x65,
    0x03, 0x63, 0x6f, 0x6d, 0x00, 0x00, 0x01, 0x00, 0x01, 0xc0, 0x0c, 0x00,
    0x01, 0x00, 0x01, 0x00, 0x00, 0x0e, 0x10, 0x00, 0x04, 0x5d, 0xb8, 0xd8,
    0x22]

def vectorShared : Bytes :=
  [0x33, 0x5d, 0x32, 0xf2, 0xd6, 0x5e, 0x66, 0x23, 0xcb, 0xbd, 0x05, 0xb6,
    0x53, 0x9c, 0x95, 0x75, 0xfe, 0xe1, 0x6c, 0xb5, 0x40, 0x5f, 0xe8, 0x39,
    0xab, 0x4b, 0xd2, 0x91, 0xfd, 0xf1, 0x32, 0x62]

def vectorPublic : Bytes :=
  [0x79, 0xa6, 0x31, 0xee, 0xde, 0x1b, 0xf9, 0xc9, 0x8f, 0x12, 0x03, 0x2c,
    0xde, 0xad, 0xd0, 0xe7, 0xa0, 0x79, 0x39, 0x8f, 0xc7, 0x86, 0xb8, 0x8c,
    0xc8, 0x46, 0xec, 0x89, 0xaf, 0x85, 0xa5, 0x1a]

def vectorClientNonce : Bytes :=
  [0xa0, 0xa1, 0xa2, 0xa3, 0xa4, 0xa5, 0xa6, 0xa7, 0xa8, 0xa9, 0xaa, 0xab]

def vectorResolverNonce : Bytes :=
  [0xc0, 0xc1, 0xc2, 0xc3, 0xc4, 0xc5, 0xc6, 0xc7, 0xc8, 0xc9, 0xca, 0xcb]

def vectorSealed : Packet :=
  [0xf2, 0x67, 0x09, 0x95, 0xc6, 0xd3, 0x7c, 0x2f, 0x8d, 0x20, 0x16, 0x02,
    0x9d, 0xd5, 0x97, 0x0b, 0x89, 0x3d, 0xe8, 0x3c, 0x02, 0x81, 0x5e, 0xce,
    0x9b, 0x48, 0xd9, 0xfd, 0x0b, 0x0d, 0xca, 0x87, 0x41, 0x67, 0x41, 0x42,
    0xfb, 0xd8, 0xe1, 0x2c, 0x11, 0x20, 0xb1, 0x11, 0xf3, 0x66, 0x32, 0x6a,
    0xa7, 0x1c, 0x89, 0x82, 0x3a, 0x29, 0x31, 0xac, 0x5c, 0x86, 0x0d, 0xad,
    0x49, 0x68, 0x5e, 0xd6, 0xcc, 0x22, 0xcc, 0x13, 0xe8, 0x29, 0xd2, 0xe5,
    0x1d, 0x1c, 0x00, 0xea, 0x64, 0xd1, 0xd3, 0x9d]

/-- The query vector: `www.example.com`, type A. -/
def vectorQuery : Packet :=
  [0x12, 0x34, 1, 0, 0, 1, 0, 0, 0, 0, 0, 0] ++
    [3, 119, 119, 119, 7, 101, 120, 97, 109, 112, 108, 101, 3, 99, 111, 109, 0,
      0, 1, 0, 1]

def vectorSecret : Bytes :=
  (List.range 32).map fun index => UInt8.ofNat (0x40 + index)

def vectorCertificate : DnsCryptCertificate :=
  readCertificate vectorBlob

def vectorSealedQuery : Packet :=
  [0x2d, 0xae, 0x52, 0x7c, 0x26, 0x38, 0x6d, 0x5c, 0xd4, 0xe6, 0x11, 0x52,
    0xdb, 0x6d, 0xd1, 0x81, 0x2f, 0xf6, 0xaa, 0xf7, 0x64, 0x4f, 0xc1, 0x22,
    0xaf, 0xc7, 0x0b, 0x1b, 0x58, 0x0b, 0x18, 0xf1, 0x0f, 0xbc, 0x26, 0x57,
    0x7a, 0xbc, 0x75, 0x91, 0x52, 0xcd, 0xe3, 0x1c, 0xd0, 0xaf, 0xc5, 0xc5,
    0xf4, 0x52, 0xf8, 0x65, 0x48, 0x15, 0x46, 0x97, 0x23, 0x30, 0x08, 0x19,
    0xbe, 0xd5, 0xa1, 0x20, 0x15, 0xc0, 0x44, 0xb9, 0x4d, 0x63, 0xec, 0x1f,
    0x79, 0xe4, 0x8a, 0x23, 0x96, 0x8e, 0x43, 0x7f, 0xeb, 0x8b, 0xb8, 0x72,
    0x0c, 0xf4, 0xe6, 0x0a, 0x04, 0x99, 0x74, 0x61, 0x90, 0xc8, 0xb3, 0xeb,
    0x83, 0xae, 0xb0, 0xd8, 0x58, 0xdf, 0x77, 0x79, 0x42, 0x70, 0xb8, 0x61,
    0xf8, 0x66, 0x44, 0x50, 0x2b, 0xe0, 0xd2, 0x2d, 0x6f, 0x0b, 0x2b, 0x13,
    0x2e, 0x9c, 0xa6, 0x85, 0x38, 0x30, 0x0c, 0x8d, 0x68, 0xb8, 0xe3, 0xc4,
    0x81, 0x90, 0xcb, 0xbf, 0x96, 0xd6, 0x02, 0xf3, 0x8d, 0xfc, 0x3b, 0x4d,
    0x64, 0x20, 0x16, 0xce, 0xea, 0xf4, 0xbc, 0x2c, 0x2d, 0xed, 0x94, 0x83,
    0xb9, 0xf9, 0xd4, 0xee, 0xd7, 0x03, 0xa0, 0xbe, 0xbc, 0x25, 0x2a, 0xdd,
    0x88, 0x22, 0xd4, 0xb9, 0x15, 0x2e, 0x30, 0x67, 0x0b, 0xcd, 0xe9, 0xea,
    0x75, 0xa0, 0xe3, 0xe6, 0x7e, 0xa5, 0x76, 0xe9, 0xb1, 0x26, 0x2b, 0xb2,
    0xb2, 0x5b, 0x4f, 0x94, 0x32, 0x31, 0x1b, 0x75, 0xa2, 0x23, 0x8b, 0x34,
    0xbf, 0x4f, 0x86, 0x8d, 0xa1, 0x82, 0xb8, 0x5d, 0xcc, 0xb1, 0x76, 0x2a,
    0x70, 0x3b, 0xba, 0x31, 0xd0, 0x4d, 0x77, 0xb4, 0xc5, 0x7e, 0xc9, 0x03,
    0x96, 0x63, 0x95, 0x97, 0x93, 0x67, 0x75, 0x88, 0xb3, 0xa7, 0x4a, 0xe4,
    0x09, 0xb0, 0xf1, 0x63, 0x74, 0xdd, 0x64, 0xcb, 0xd6, 0xd4, 0x7d, 0x80,
    0x17, 0x25, 0xb0, 0x14, 0xce, 0x9d, 0xda, 0xf6, 0xf1, 0xaa, 0x30, 0x68,
    0x8c, 0x8e, 0xfc, 0xbf, 0xde, 0x1d, 0x5d, 0x1d]

structure RecordedBox where
  plain : Packet
  nonce : Bytes
  sealed : Packet

/-- The boxes of the vectors; all are of the second kind, under one shared key. -/
def recordedBoxes : List RecordedBox :=
  [ { plain := paddedRequest vectorQuery 256
      nonce := vectorClientNonce ++ List.replicate 12 0
      sealed := vectorSealedQuery },
    { plain := paddedRequest vectorMessage 64
      nonce := vectorClientNonce ++ vectorResolverNonce
      sealed := vectorSealed } ]

/-- The recorded box where one was recorded, and a tag of zeros elsewhere. -/
def recordedSeal (box : Box) (plain : Packet) (nonce key : Bytes) : Packet :=
  match recordedBoxes.find? fun record => decide (box = .xchacha20 ∧ plain = record.plain ∧
      nonce = record.nonce ∧ key = vectorShared) with
  | some record => record.sealed
  | none => List.replicate 16 0 ++ plain

/-- What a box holds if it is genuine. -/
def recordedPlain (sealed : Packet) : Packet :=
  match recordedBoxes.find? fun record => decide (sealed = record.sealed) with
  | some record => record.plain
  | none => sealed.drop 16

/-- The recorded keys, and keys of zeros elsewhere. -/
def recordedSodium : Sodium where
  scalarmultBase := fun secret =>
    some (if secret = vectorSecret then vectorPublic else List.replicate 32 0)
  beforenm := fun box publicKey secret =>
    some (if box = .xchacha20 ∧ publicKey = vectorCertificate.resolverPublicKey ∧
      secret = vectorSecret then vectorShared else List.replicate 32 0)
  easyAfternm := fun box plain nonce key =>
    some (recordedSeal box plain nonce key)
  openEasyAfternm := fun box sealed nonce key =>
    if recordedSeal box (recordedPlain sealed) nonce key = sealed then
      some (recordedPlain sealed)
    else none

theorem recordedBoxes_sound : ∀ record ∈ recordedBoxes,
    record.sealed.length = record.plain.length + macBytes ∧
      record.sealed.head? ≠ some 0 ∧ recordedPlain record.sealed = record.plain := by
  decide +kernel

theorem recordedBoxes_found {box : Box} {plain : Packet} {nonce key : Bytes}
    {record : RecordedBox}
    (found : recordedBoxes.find? (fun record => decide (box = .xchacha20 ∧
      plain = record.plain ∧ nonce = record.nonce ∧ key = vectorShared)) = some record) :
    record ∈ recordedBoxes ∧ plain = record.plain := by
  have same := List.find?_some found
  rw [decide_eq_true_eq] at same
  exact ⟨List.mem_of_find?_eq_some found, same.2.1⟩

theorem recordedPlain_recordedSeal (box : Box) (plain : Packet)
    (nonce key : Bytes) :
    recordedPlain (recordedSeal box plain nonce key) = plain := by
  unfold recordedSeal
  split
  · rename_i record found
    obtain ⟨member, same⟩ := recordedBoxes_found found
    rw [(recordedBoxes_sound record member).2.2, same]
  · have none : recordedBoxes.find?
        (fun record => decide (List.replicate 16 0 ++ plain = record.sealed)) = none := by
      refine List.find?_eq_none.mpr fun record member same => ?_
      refine (recordedBoxes_sound record member).2.1 ?_
      rw [← of_decide_eq_true same]
      rfl
    unfold recordedPlain
    rw [none]
    rfl

theorem recordedSodium_correct : recordedSodium.Correct where
  publicKey := by
    intro secret
    refine ⟨_, rfl, ?_⟩
    split
    · rfl
    · rfl
  seals := by
    intro box plain nonce key
    refine ⟨_, rfl, ?_⟩
    unfold recordedSeal
    split
    · rename_i record found
      obtain ⟨member, same⟩ := recordedBoxes_found found
      rw [same]
      exact (recordedBoxes_sound record member).1
    · rw [List.length_append, List.length_replicate, Nat.add_comm]
      rfl
  opens := by
    intro box plain nonce key sealed
    simp only [recordedSodium, Option.some.injEq]
    constructor
    · intro opened
      by_cases genuine :
          recordedSeal box (recordedPlain sealed) nonce key = sealed
      · rw [if_pos genuine] at opened
        rw [← Option.some.inj opened, genuine]
      · rw [if_neg genuine] at opened
        cases opened
    · intro boxed
      rw [← boxed, recordedPlain_recordedSeal, if_pos rfl]

end NativeDNS

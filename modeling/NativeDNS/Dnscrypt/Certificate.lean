/-
DNSCrypt certificates: reading, authentication and selection.

The signature check is that of libsodium; it takes the signature, the signed
bytes and the provider key.
-/
import NativeDNS.Wire.Bytes
import NativeDNS.Rules.Validation

namespace NativeDNS

open ByteText (text byte decimal)
open CheckedResult

structure DnsCryptCertificate where
  encryptionSystem : UInt8
  resolverPublicKey : Bytes
  clientMagic : Bytes
  serial : Nat
  validFrom : Nat
  validUntil : Nat
  deriving DecidableEq

/-- `crypto_sign_verify_detached`. -/
abbrev SignatureCheck := Bytes → Bytes → Bytes → Bool

def classicalCertificateSize : Nat := 124

def certMagic : Bytes := text "DNSC"

def readCertificate (blob : Packet) : DnsCryptCertificate :=
  { encryptionSystem := byteAt blob 5
    resolverPublicKey := slice blob 72 32
    clientMagic := slice blob 104 8
    serial := dwordAt blob 112
    validFrom := dwordAt blob 116
    validUntil := dwordAt blob 120 }

/-- The tests of a blob that do not depend on the time. -/
def candidateCertificate (verify : SignatureCheck) (providerKey : Bytes)
    (blob : Packet) : Option DnsCryptCertificate :=
  if blob.length < classicalCertificateSize ∨ blob.take 4 ≠ certMagic then none
  else if byteAt blob 4 ≠ 0 ∨ (byteAt blob 5 ≠ 1 ∧ byteAt blob 5 ≠ 2) ∨
      byteAt blob 6 ≠ 0 ∨ byteAt blob 7 ≠ 0 then none
  else if verify (slice blob 8 64) (blob.drop 72) providerKey = false then none
  else
    let candidate := readCertificate blob
    if candidate.encryptionSystem = 2 ∧
        (candidate.clientMagic.take 7).all (· == 0) = true then none
    else if candidate.validUntil ≤ candidate.validFrom then none
    else some candidate

def DnsCryptCertificate.validAt (certificate : DnsCryptCertificate)
    (unixTime : Nat) : Bool :=
  decide (certificate.validFrom ≤ unixTime) &&
    decide (unixTime < certificate.validUntil)

structure CertificateSearch where
  selected : Option DnsCryptCertificate := none
  timeInvalid : Bool := false
  deriving DecidableEq

/-- One blob: the higher serial is kept, and the first of two equal ones. -/
def considerCertificate (verify : SignatureCheck) (providerKey : Bytes)
    (unixTime : Nat) (search : CertificateSearch) (blob : Packet) :
    CertificateSearch :=
  match candidateCertificate verify providerKey blob with
  | none => search
  | some candidate =>
      if candidate.validAt unixTime = false then
        { search with timeInvalid := true }
      else
        match search.selected with
        | none => { search with selected := some candidate }
        | some selected =>
            if selected.serial < candidate.serial then
              { search with selected := some candidate }
            else search

def selectDnscryptCertificate (verify : SignatureCheck) (blobs : List Packet)
    (providerKey : Bytes) (unixTime : Nat) : Checked DnsCryptCertificate :=
  let search := blobs.foldl (considerCertificate verify providerKey unixTime) {}
  match search.selected with
  | some selected => pure selected
  | none =>
      if search.timeInvalid then
        throw
          { code := "DNSCRYPT_CERT_TIME"
            message :=
              text "Authenticated DNSCrypt certificate is not valid at system time " ++
                decimal unixTime }
      else throw (.of "DNSCRYPT_CERT" "No valid supported DNSCrypt certificate")

/-- A certificate that the holder of a provider key has signed. -/
def Authenticated (verify : SignatureCheck) (providerKey : Bytes)
    (certificate : DnsCryptCertificate) : Prop :=
  ∃ blob, candidateCertificate verify providerKey blob = some certificate

/-- A search whose result is authenticated and valid at the given time. -/
def CertificateSearch.Sound (verify : SignatureCheck) (providerKey : Bytes)
    (unixTime : Nat) (search : CertificateSearch) : Prop :=
  ∀ found, search.selected = some found →
    Authenticated verify providerKey found ∧ found.validAt unixTime = true

theorem considerCertificate_sound {verify : SignatureCheck} {providerKey : Bytes}
    {unixTime : Nat} {search : CertificateSearch}
    (sound : search.Sound verify providerKey unixTime) (blob : Packet) :
    (considerCertificate verify providerKey unixTime search blob).Sound verify
      providerKey unixTime := by
  intro found selected
  unfold considerCertificate at selected
  cases read : candidateCertificate verify providerKey blob with
  | none =>
      rw [read] at selected
      exact sound found selected
  | some candidate =>
      simp only [read] at selected
      split at selected
      · exact sound found selected
      · rename_i valid
        have own : Authenticated verify providerKey candidate ∧
            candidate.validAt unixTime = true :=
          ⟨⟨blob, read⟩, eq_true_of_ne_false valid⟩
        split at selected
        · cases selected
          exact own
        · split at selected
          · cases selected
            exact own
          · exact sound found selected

theorem considerCertificates_sound {verify : SignatureCheck} {providerKey : Bytes}
    {unixTime : Nat} (blobs : List Packet) {search : CertificateSearch}
    (sound : search.Sound verify providerKey unixTime) :
    (blobs.foldl (considerCertificate verify providerKey unixTime) search).Sound
      verify providerKey unixTime := by
  induction blobs generalizing search with
  | nil =>
      exact sound
  | cons blob rest ih =>
      exact ih (considerCertificate_sound sound blob)

theorem selectDnscryptCertificate_spec {verify : SignatureCheck}
    {blobs : List Packet} {providerKey : Bytes} {unixTime : Nat}
    {certificate : DnsCryptCertificate}
    (run : selectDnscryptCertificate verify blobs providerKey unixTime =
      .ok certificate) :
    Authenticated verify providerKey certificate ∧
      certificate.validAt unixTime = true := by
  have empty : CertificateSearch.Sound verify providerKey unixTime {} := nofun
  have sound := considerCertificates_sound blobs empty
  unfold selectDnscryptCertificate at run
  simp only at run
  split at run
  · rename_i selected found
    cases run
    exact sound certificate found
  · split at run <;> cases run

/-! ### A recorded certificate -/

/-- The certificate vector: version 2, serial 1, valid for one day. -/
def vectorBlob : Packet :=
  [0x44, 0x4e, 0x53, 0x43, 0x00, 0x02, 0x00, 0x00, 0x3a, 0x57, 0x0e, 0xa1,
    0x7f, 0x47, 0xb8, 0x02, 0x17, 0x97, 0x7f, 0xbb, 0x45, 0x58, 0x40, 0xbf,
    0xd5, 0x0a, 0xb3, 0x2f, 0x5f, 0xbf, 0x2a, 0xab, 0xc1, 0x73, 0xa6, 0xa4,
    0x9b, 0x7a, 0x49, 0xca, 0x55, 0x36, 0x2a, 0x6c, 0x5d, 0xec, 0x47, 0x65,
    0x7c, 0xf5, 0x15, 0xe9, 0xf9, 0x93, 0x82, 0xa3, 0x16, 0xdf, 0xec, 0xd9,
    0x64, 0xb9, 0x4d, 0x1c, 0x46, 0x59, 0xca, 0xc4, 0x59, 0x61, 0x40, 0x0c,
    0x35, 0x80, 0x72, 0xd6, 0x36, 0x58, 0x80, 0xd1, 0xae, 0xea, 0x32, 0x9a,
    0xdf, 0x91, 0x21, 0x38, 0x38, 0x51, 0xed, 0x21, 0xa2, 0x8e, 0x3b, 0x75,
    0xe9, 0x65, 0xd0, 0xd2, 0xcd, 0x16, 0x62, 0x54, 0xb1, 0xb2, 0xb3, 0xb4,
    0xb5, 0xb6, 0xb7, 0xb8, 0x00, 0x00, 0x00, 0x01, 0x68, 0x00, 0x00, 0x00,
    0x68, 0x01, 0x51, 0x80]

def vectorProviderKey : Bytes :=
  [0x03, 0xa1, 0x07, 0xbf, 0xf3, 0xce, 0x10, 0xbe, 0x1d, 0x70, 0xdd, 0x18,
    0xe7, 0x4b, 0xc0, 0x99, 0x67, 0xe4, 0xd6, 0x30, 0x9b, 0xa5, 0x0d, 0x5f,
    0x1d, 0xdc, 0x86, 0x64, 0x12, 0x55, 0x31, 0xb8]

/-- The check knows the recorded signature only. -/
def recordedCheck : SignatureCheck := fun signature signed providerKey =>
  decide (signature = slice vectorBlob 8 64 ∧ signed = vectorBlob.drop 72 ∧
    providerKey = vectorProviderKey)

end NativeDNS

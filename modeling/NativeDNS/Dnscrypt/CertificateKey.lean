/-
Cache keys of DNSCrypt servers and the provider keys they determine.

The fields of a key are separated by a bar.  An admitted server has none in the
fields up to its public key, so two admitted servers with one cache key have
one provider key.
-/
import NativeDNS.Dnscrypt.Loading
import NativeDNS.Library.Lists

namespace NativeDNS

open ByteText (text byte decimal pieces isDigit readDecimal)
open CheckedResult

/-- The platform takes no text with a bar for an address. -/
def PlainAddresses (platform : Platform) : Prop :=
  ∀ value, (platform.parseIp value).isSome = true → byte '|' ∉ value

theorem readUint32_plain {digits : Bytes} {value : UInt32}
    (read : readUint32 digits = some value) : byte '|' ∉ digits := by
  unfold readUint32 at read
  obtain ⟨number, decoded, _⟩ := Option.map_eq_some_iff.mp read
  have all := ByteText.readDecimal_all_isDigit decoded
  intro member
  have isOne := List.all_eq_true.mp all _ member
  revert isOne
  decide

/-! ### The fields of an admitted server -/

theorem numericEndpoint_plain {platform : Platform} (plain : PlainAddresses platform)
    {value : Bytes} {endpoint : NumericEndpoint}
    (parsed : parseNumericEndpoint platform value = .ok endpoint) :
    byte '|' ∉ value := by
  unfold parseNumericEndpoint at parsed
  simp only [Lists.drop_takeWhile] at parsed
  have split := @List.takeWhile_append_dropWhile _ (· != byte '%') value
  intro member
  rw [← split] at member
  cases address : platform.parseIp (value.takeWhile (· != byte '%')) with
  | none =>
      rw [address] at parsed
      cases parsed
  | some found =>
      have front := plain (value.takeWhile (· != byte '%')) (by rw [address]; rfl)
      rw [address] at parsed
      rcases List.mem_append.mp member with inside | behind
      · exact front inside
      · cases tail : value.dropWhile (· != byte '%') with
        | nil =>
            rw [tail] at behind
            cases behind
        | cons marker scope =>
            have percent := List.head?_dropWhile_not (· != byte '%') value
            rw [tail] at behind percent
            have markerEq : marker = byte '%' := by simpa using percent
            simp only [tail] at parsed
            cases read : readUint32 scope with
            | none =>
                rw [read] at parsed
                cases parsed
            | some scope6 =>
                rcases List.mem_cons.mp behind with here | later
                · rw [markerEq] at here
                  revert here
                  decide
                · exact readUint32_plain read later

/-! ### Names -/

theorem checkNameCharacters_plain :
    ∀ {label checked : Bytes},
      checkNameCharacters false true label = .ok checked → byte '|' ∉ label := by
  intro label
  induction label with
  | nil =>
      intro checked _ member
      cases member
  | cons first rest ih =>
      intro checked run member
      simp only [checkNameCharacters, bind_eq_ok] at run
      obtain ⟨character, tested, others, remaining, _⟩ := run
      rcases List.mem_cons.mp member with here | later
      · rw [← here] at tested
        have refused : checkNameCharacter false true (byte '|') =
            .error (.of "HOST" "Hostname must use canonical ASCII A-label syntax") := by
          decide
        rw [refused] at tested
        cases tested
      · exact ih remaining later

theorem normalizeLabels_plain :
    ∀ {labels checked : List Bytes},
      normalizeLabels false true labels = .ok checked →
      ∀ label ∈ labels, byte '|' ∉ label := by
  intro labels
  induction labels with
  | nil =>
      intro checked _ label member
      cases member
  | cons first rest ih =>
      intro checked run label member
      simp only [normalizeLabels, normalizeLabel, bind_eq_ok] at run
      obtain ⟨_, ⟨_, _, _, _, _, tested, _⟩, _, _, others, remaining, _⟩ := run
      rcases List.mem_cons.mp member with here | later
      · rw [here]
        exact checkNameCharacters_plain tested
      · exact ih remaining label later

theorem mem_trimBlanks {character : UInt8} (solid : isBlank character = false)
    {value : Bytes} (member : character ∈ value) : character ∈ trimBlanks value := by
  have kept : ∀ {bytes : Bytes}, character ∈ bytes →
      character ∈ bytes.dropWhile isBlank := by
    intro bytes inside
    have split := @List.takeWhile_append_dropWhile _ isBlank bytes
    rw [← split] at inside
    rcases List.mem_append.mp inside with front | back
    · have blank := List.all_eq_true.mp List.all_takeWhile character front
      rw [solid] at blank
      cases blank
    · exact back
  unfold trimBlanks
  apply List.mem_reverse.mpr
  apply kept
  apply List.mem_reverse.mpr
  exact kept member

theorem normalizeHost_plain {value host : Bytes}
    (normal : normalizeHost value = .ok host) : byte '|' ∉ value := by
  intro member
  have trimmed := mem_trimBlanks (by decide) member
  simp only [normalizeHost, normalizeAsciiName, bind_eq_ok] at normal
  obtain ⟨_, _, _, _, labels, run, _⟩ := normal
  have different : byte '|' ≠ byte '.' := by decide
  split at run
  · rename_i dotted
    have parts := List.dropLast_append_getLast? _ dotted
    rw [← parts] at trimmed
    have front : byte '|' ∈ (trimBlanks value).dropLast := by
      rcases List.mem_append.mp trimmed with inside | last
      · exact inside
      · exact absurd (List.mem_singleton.mp last) different
    obtain ⟨piece, inside, found⟩ := ByteText.mem_pieces different front
    exact normalizeLabels_plain run piece inside found
  · obtain ⟨piece, inside, found⟩ := ByteText.mem_pieces different trimmed
    exact normalizeLabels_plain run piece inside found

theorem keyDigits_plain :
    ∀ {value digits : Bytes}, keyDigits value = .ok digits → byte '|' ∉ value := by
  intro value
  induction value with
  | nil =>
      intro digits _ member
      cases member
  | cons first rest ih =>
      intro digits run member
      simp only [keyDigits] at run
      rcases List.mem_cons.mp member with here | later
      · rw [← here, if_neg (by decide)] at run
        simp only [bind_eq_ok, rejectIf_eq_ok] at run
        obtain ⟨_, accepted, _⟩ := run
        exact accepted (by decide)
      · split at run
        · exact ih run later
        · simp only [bind_eq_ok] at run
          obtain ⟨_, _, others, remaining, _⟩ := run
          exact ih remaining later

theorem providerKey_plain {value key : Bytes}
    (parsed : parseDnscryptProviderKey value = .ok key) : byte '|' ∉ value := by
  simp only [parseDnscryptProviderKey, bind_eq_ok] at parsed
  obtain ⟨hex, digits, _⟩ := parsed
  exact keyDigits_plain digits

/-! ### Keys of admitted servers -/

structure AdmittedServer (server : Server) : Prop where
  ip : byte '|' ∉ server.ip
  providerName : byte '|' ∉ server.providerName
  publicKey : byte '|' ∉ server.publicKey
  providerKey : ∃ key, parseDnscryptProviderKey server.publicKey = .ok key

theorem isOk_eq_true {α : Type} {result : Checked α} (ok : result.isOk = true) :
    ∃ value, result = .ok value := by
  cases result with
  | error error =>
      cases ok
  | ok value =>
      exact ⟨value, rfl⟩

theorem admitted_of_admits {platform : Platform} (plain : PlainAddresses platform)
    {server : Server} (admits : admitsServer platform server = true) :
    AdmittedServer server := by
  obtain ⟨validated, addressed⟩ := Bool.and_eq_true_iff.mp admits
  obtain ⟨_, validated⟩ := isOk_eq_true validated
  obtain ⟨endpoint, addressed⟩ := isOk_eq_true addressed
  simp only [validateDnscryptServer, bind_eq_ok] at validated
  obtain ⟨_, _, _, _, host, normal, key, parsed, _⟩ := validated
  exact
    { ip := numericEndpoint_plain plain addressed
      providerName := normalizeHost_plain normal
      publicKey := providerKey_plain parsed
      providerKey := ⟨key, parsed⟩ }

theorem protocolName_plain (protocol : Protocol) :
    byte '|' ∉ protocolName protocol := by
  cases protocol <;> decide

theorem certificateKey_publicKey {left right : Server}
    (leftAdmitted : AdmittedServer left) (rightAdmitted : AdmittedServer right)
    (same : certificateKey left = certificateKey right) :
    left.publicKey = right.publicKey := by
  have endpoint : ∀ {server : Server}, AdmittedServer server →
      byte '|' ∉ server.ip ++ byte ':' ::
        decimal (if server.port = 0 then 443 else server.port.toNat) := by
    intro server admitted member
    rcases List.mem_append.mp member with address | port
    · exact admitted.ip address
    · rcases List.mem_cons.mp port with colon | digit
      · revert colon
        decide
      · exact ByteText.not_mem_decimal (by decide) _ digit
  unfold certificateKey at same
  obtain ⟨_, same⟩ := ByteText.append_separator_inj (protocolName_plain _)
    (protocolName_plain _) same
  obtain ⟨_, same⟩ := ByteText.append_separator_inj (endpoint leftAdmitted)
    (endpoint rightAdmitted) same
  obtain ⟨_, same⟩ := ByteText.append_separator_inj leftAdmitted.providerName
    rightAdmitted.providerName same
  exact (ByteText.append_separator_inj leftAdmitted.publicKey
    rightAdmitted.publicKey same).1

theorem ipv4Platform_plain : PlainAddresses ipv4Platform := by
  intro value parsed member
  obtain ⟨piece, inside, found⟩ := @ByteText.mem_pieces (byte '.') (byte '|')
    (by decide) value member
  simp only [ipv4Platform] at parsed
  cases octets : (pieces (byte '.') value).mapM dottedOctet with
  | none =>
      rw [octets] at parsed
      cases parsed
  | some values =>
      obtain ⟨octet, read⟩ := Lists.exists_of_mapM octets inside
      unfold dottedOctet at read
      split at read
      · rename_i number decoded
        have isOne := List.all_eq_true.mp
          (ByteText.readDecimal_all_isDigit decoded) _ found
        revert isOne
        decide
      · cases read

end NativeDNS
